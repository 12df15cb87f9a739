import MimeDatabase.Proofs.Database.Queries

/-!
# Loading what can be read

A database is loaded from several paths. A path that leads to no directory is passed over, and a
directory that cannot be read only leaves its name among the sources: queries are answered as by a
database of the directories that can be read (`load_readable`). But the paths are not safe from one
another. If it is refused to tell whether one of them leads to a directory, or if there is no room
for what it holds, then nothing is loaded.
-/

namespace MimeDatabase

/-! ## Sets without records -/

/-- A record set is empty if it has no record of any kind. -/
theorem RecordSet.isEmpty_iff {s : RecordSet} : s.isEmpty = true ↔
    s.globs = [] ∧ s.magic = [] ∧ s.subclasses = [] ∧ s.aliases = [] ∧ s.icons = [] ∧
      s.genericIcons = [] := by
  simp only [isEmpty, Bool.and_eq_true, List.isEmpty_iff, and_assoc]

namespace Database

/-- Sets without records can be left out where records are gathered. -/
theorem flatMap_filter_usable {α : Type} {records : RecordSet → List α}
    (hrecords : ∀ s : RecordSet, s.isEmpty = true → records s = []) (sets : List RecordSet) :
    (sets.filter fun s => !s.isEmpty).flatMap records = sets.flatMap records := by
  induction sets with
  | nil => rfl
  | cons s sets ih =>
    rw [List.filter_cons, List.flatMap_cons, ← ih]
    cases hs : s.isEmpty with
    | true => rw [hrecords s hs]; rfl
    | false => rfl

/-- If two lists of sets differ in sets without records only, then so do their databases in the
names of sources. -/
theorem build_eq_of_filter_eq {sets sets' : List RecordSet}
    (h : (sets.filter fun s => !s.isEmpty) = sets'.filter fun s => !s.isEmpty)
    (settings : DatabaseSettings) :
    build sets settings = { build sets' settings with sources := sets.map (·.source) } := by
  have hsame : ∀ {α : Type} {records : RecordSet → List α},
      (∀ s : RecordSet, s.isEmpty = true → records s = []) →
        sets.flatMap records = sets'.flatMap records := by
    intro α records hrecords
    rw [← flatMap_filter_usable hrecords, h, flatMap_filter_usable hrecords]
  simp only [RecordSet.isEmpty_iff] at hsame
  have hglobs : sets.flatMap (·.globs) = sets'.flatMap (·.globs) := hsame fun _ hs => hs.1
  have hmagic : sets.flatMap (·.magic) = sets'.flatMap (·.magic) := hsame fun _ hs => hs.2.1
  have hsubclasses : sets.flatMap (·.subclasses) = sets'.flatMap (·.subclasses) :=
    hsame fun _ hs => hs.2.2.1
  have haliases : sets.flatMap (·.aliases) = sets'.flatMap (·.aliases) :=
    hsame fun _ hs => hs.2.2.2.1
  have hicons : sets.flatMap (·.icons) = sets'.flatMap (·.icons) := hsame fun _ hs => hs.2.2.2.2.1
  have hgenericIcons : sets.flatMap (·.genericIcons) = sets'.flatMap (·.genericIcons) :=
    hsame fun _ hs => hs.2.2.2.2.2
  simp only [build, aliasTable, recordNames, recordEdges, recordGlobs, recordRules, hglobs, hmagic,
    hsubclasses, haliases, hicons, hgenericIcons]

/-- No query asks for the names of sources. -/
theorem answer_withSources (db : Database) (sources : List String) (q : Query) :
    ({ db with sources } : Database).answer q = db.answer q := by
  cases q <;> rfl

theorem after_withSources (db : Database) (sources : List String) (calls : List Call) :
    ({ db with sources } : Database).after calls = { db.after calls with sources } := by
  rw [after_eq, after_eq]

end Database

/-! ## Directories -/

namespace Directory.Access

variable {φ : Type} (a : Access φ)

/-- Why a path makes everything fail: it cannot be examined, or there is no room for what is read of
it. -/
def failure? (dir : Path) : Option (Fault φ) :=
  match a.isDirectory dir, a.texts dir with
  | .error fault, _ => some (.refused fault)
  | .ok true, .ok texts =>
    match RecordSet.ofTexts a.heightLimit texts with
    | .error fault => some (.unbuilt fault)
    | .ok _ => none
  | _, _ => none

/-- The records of a path that can be examined and read and leads to a directory. -/
def readable? (dir : Path) : Option RecordSet :=
  match a.isDirectory dir, a.texts dir with
  | .ok true, .ok texts => (RecordSet.ofTexts a.heightLimit texts).toOption
  | _, _ => none

variable {a} {dir : Path} {dirs : List Path} {settings : DatabaseSettings} {set? : Option RecordSet}

theorem readAll_cons_of_error {fault : Fault φ} (h : a.recordsAt dir = .error fault) :
    a.readAll (dir :: dirs) = .error fault := by
  rw [readAll, h]
  rfl

theorem readAll_cons_of_ok (h : a.recordsAt dir = .ok set?) :
    a.readAll (dir :: dirs) = (a.readAll dirs).map fun others => set?.toList ++ others := by
  rw [readAll, h]
  rfl

/-- A path fails to be read for the reason named, and for no other. -/
theorem recordsAt_eq_error_iff {fault : Fault φ} :
    a.recordsAt dir = .error fault ↔ a.failure? dir = some fault := by
  rw [recordsAt, failure?]
  cases a.isDirectory dir with
  | error cause => simp
  | ok isDirectory =>
    cases isDirectory with
    | false => simp
    | true =>
      dsimp only
      rw [records]
      cases a.texts dir with
      | error cause => simp [Except.map, Except.mapError]
      | ok texts =>
        dsimp only
        cases RecordSet.ofTexts a.heightLimit texts <;> simp [Except.map, Except.mapError]

/-- Reading is given up at the first path that fails. -/
theorem readAll_eq_error_iff {fault : Fault φ} :
    a.readAll dirs = .error fault ↔ dirs.findSome? a.failure? = some fault := by
  induction dirs with
  | nil => exact iff_of_false (by rintro ⟨⟩) (by rintro ⟨⟩)
  | cons dir dirs ih =>
    rw [List.findSome?_cons]
    cases hdir : a.recordsAt dir with
    | error cause =>
      rw [readAll_cons_of_error hdir, recordsAt_eq_error_iff.mp hdir, Except.error.injEq,
        Option.some.injEq]
    | ok set? =>
      have hnone : a.failure? dir = none :=
        Option.eq_none_iff_forall_ne_some.mpr fun cause hcause => by
          rw [recordsAt_eq_error_iff.mpr hcause] at hdir
          cases hdir
      rw [readAll_cons_of_ok hdir, hnone, ← ih]
      cases a.readAll dirs <;> simp [Except.map]

/-- A path never fails for want of records. -/
theorem failure?_ne_unavailable (dir : Path) (fault : Unavailable) :
    a.failure? dir ≠ some (.unavailable fault) := by
  rw [failure?]
  split
  next => simp
  next => split <;> simp
  next => simp

/-- A readable directory does not fail. -/
theorem failure?_of_readable? {s : RecordSet} (h : a.readable? dir = some s) :
    a.failure? dir = none := by
  rw [readable?] at h
  rw [failure?]
  split at h
  next texts hdir htexts =>
    rw [hdir, htexts]
    dsimp only
    cases hset : RecordSet.ofTexts a.heightLimit texts with
    | error fault =>
      rw [hset] at h
      cases h
    | ok set => rfl
  next => cases h

/-- A path that does not fail adds the records of a readable directory, or a set without records, or
nothing. -/
theorem filter_recordsAt (h : a.recordsAt dir = .ok set?) :
    (set?.toList.filter fun s => !s.isEmpty) =
      (a.readable? dir).toList.filter fun s => !s.isEmpty := by
  -- a directory that cannot be read is a set without records, which the filter leaves out
  rw [recordsAt] at h
  rw [readable?]
  cases hdir : a.isDirectory dir with
  | error fault =>
    rw [hdir] at h
    cases h
  | ok isDirectory =>
    rw [hdir] at h
    cases isDirectory with
    | false =>
      obtain rfl := Except.ok.inj h
      rfl
    | true =>
      dsimp only at h ⊢
      rw [records] at h
      cases htexts : a.texts dir with
      | error fault =>
        rw [htexts] at h
        obtain rfl := Except.ok.inj h
        rfl
      | ok texts =>
        rw [htexts] at h
        dsimp only at h ⊢
        cases hset : RecordSet.ofTexts a.heightLimit texts with
        | error fault =>
          rw [hset] at h
          cases h
        | ok set =>
          rw [hset] at h
          obtain rfl := Except.ok.inj h
          rfl

/-- Of what is read, only the records of readable directories count. -/
theorem filter_readAll {sets : List RecordSet} (h : a.readAll dirs = .ok sets) :
    (sets.filter fun s => !s.isEmpty) =
      (dirs.filterMap a.readable?).filter fun s => !s.isEmpty := by
  rw [List.filterMap_eq_flatMap_toList]
  induction dirs generalizing sets with
  | nil =>
    obtain rfl := Except.ok.inj h
    rfl
  | cons dir dirs ih =>
    cases hdir : a.recordsAt dir with
    | error fault =>
      rw [readAll_cons_of_error hdir] at h
      cases h
    | ok set? =>
      rw [readAll_cons_of_ok hdir] at h
      cases hothers : a.readAll dirs with
      | error fault =>
        rw [hothers] at h
        cases h
      | ok others =>
        rw [hothers] at h
        obtain rfl := Except.ok.inj h
        rw [List.flatMap_cons, List.filter_append, List.filter_append, filter_recordsAt hdir,
          ih hothers]

/-- Nothing that is read is usable if and only if nothing that is readable is. -/
theorem forall_isEmpty_readAll {sets : List RecordSet} (h : a.readAll dirs = .ok sets) :
    (∀ s ∈ sets, s.isEmpty = true) ↔ ∀ s ∈ dirs.filterMap a.readable?, s.isEmpty = true := by
  have hnil : ∀ l : List RecordSet,
      (l.filter fun s => !s.isEmpty) = [] ↔ ∀ s ∈ l, s.isEmpty = true := fun l => by
    rw [List.filter_eq_nil_iff]
    simp only [Bool.not_eq_true', Bool.not_eq_false]
  rw [← hnil, ← hnil, filter_readAll h]

/-- What is loaded differs only in the names of sources from the database of the readable
directories. -/
theorem build_readAll {sets : List RecordSet} (h : a.readAll dirs = .ok sets) :
    Database.build sets settings =
      { Database.build (dirs.filterMap a.readable?) settings with
        sources := sets.map (·.source) } :=
  Database.build_eq_of_filter_eq (filter_readAll h) settings

/-- All paths are read if none of them fails. -/
theorem exists_readAll_iff :
    (∃ sets, a.readAll dirs = .ok sets) ↔ ∀ dir ∈ dirs, a.failure? dir = none := by
  rw [← List.findSome?_eq_none_iff]
  cases hread : a.readAll dirs with
  | error fault =>
    rw [readAll_eq_error_iff] at hread
    exact iff_of_false (by rintro ⟨_, ⟨⟩⟩) (by rw [hread]; rintro ⟨⟩)
  | ok sets =>
    refine iff_of_true ⟨sets, rfl⟩ (Option.eq_none_iff_forall_ne_some.mpr fun fault hfault => ?_)
    rw [readAll_eq_error_iff.mpr hfault] at hread
    cases hread

theorem load_of_readAll_ok {sets : List RecordSet} (h : a.readAll dirs = .ok sets) :
    a.load dirs settings = (Database.load sets settings).mapError .unavailable := by
  rw [load, h]
  rfl

/-- If a path cannot be read, nothing is loaded. -/
theorem load_of_readAll_error {fault : Fault φ} (h : a.readAll dirs = .error fault) :
    a.load dirs settings = .error fault := by
  rw [load, h]
  rfl

/-- Whatever fails for another reason than a want of records is one of the paths, the first that
does. -/
theorem load_eq_error_iff {fault : Fault φ} (hne : ∀ cause, fault ≠ .unavailable cause) :
    a.load dirs settings = .error fault ↔ dirs.findSome? a.failure? = some fault := by
  rw [← readAll_eq_error_iff]
  cases hread : a.readAll dirs with
  | error cause => rw [load_of_readAll_error hread, Except.error.injEq, Except.error.injEq]
  | ok sets =>
    rw [load_of_readAll_ok hread]
    cases Database.load sets settings with
    | error cause =>
      refine iff_of_false (fun h => ?_) (by rintro ⟨⟩)
      exact hne cause (Except.error.inj h).symm
    | ok db => exact iff_of_false (by rintro ⟨⟩) (by rintro ⟨⟩)

/-- Records are wanting if no path fails and no readable directory holds any. -/
theorem exists_load_eq_unavailable_iff :
    (∃ fault, a.load dirs settings = .error (.unavailable fault)) ↔
      (∀ dir ∈ dirs, a.failure? dir = none) ∧
        ∀ s ∈ dirs.filterMap a.readable?, s.isEmpty = true := by
  rw [← exists_readAll_iff]
  cases hread : a.readAll dirs with
  | error cause =>
    rw [load_of_readAll_error hread]
    refine iff_of_false ?_ (by rintro ⟨⟨_, ⟨⟩⟩, -⟩)
    rintro ⟨fault, hfault⟩
    obtain rfl := Except.error.inj hfault
    obtain ⟨dir, -, hdir⟩ := List.exists_of_findSome?_eq_some (readAll_eq_error_iff.mp hread)
    exact failure?_ne_unavailable dir fault hdir
  | ok sets =>
    rw [load_of_readAll_ok hread, ← forall_isEmpty_readAll hread]
    cases hload : Database.load sets settings with
    | error cause =>
      exact iff_of_true ⟨cause, rfl⟩ ⟨⟨sets, rfl⟩, (Database.load_eq_error_iff.mp hload).1⟩
    | ok db =>
      exact iff_of_false (by rintro ⟨_, ⟨⟩⟩) fun h => (Database.load_eq_ok_iff.mp hload).1 h.2

/-- What was read is loaded if some readable directory holds records. -/
theorem load_of_usable {sets : List RecordSet} (h : a.readAll dirs = .ok sets)
    (hsome : ∃ s ∈ dirs.filterMap a.readable?, s.isEmpty = false) :
    a.load dirs settings = .ok (Database.build sets settings) := by
  have husable : ¬ ∀ s ∈ sets, s.isEmpty = true := by
    rw [forall_isEmpty_readAll h]
    intro hempty
    obtain ⟨s, hs, hfalse⟩ := hsome
    rw [hempty s hs] at hfalse
    cases hfalse
  have hload : Database.load sets settings = .ok (Database.build sets settings) :=
    Database.load_eq_ok_iff.mpr ⟨husable, rfl⟩
  rw [load_of_readAll_ok h, hload]
  rfl

/-- **Loading what can be read.** Loading fails at the first path that cannot be examined or for
which there is no room, with its fault. If there is no such path, then the readable directories
alone count, in their order: loading fails if and only if they hold no record, and else there is a
database that differs from theirs only in the names of sources and answers all queries alike, at the
start and after any calls. -/
theorem load_readable (a : Access φ) (dirs : List Path) (settings : DatabaseSettings) :
    let readable := dirs.filterMap a.readable?
    (∀ fault, a.load dirs settings = .error (.refused fault) ↔
      dirs.findSome? a.failure? = some (.refused fault)) ∧
    (∀ fault, a.load dirs settings = .error (.unbuilt fault) ↔
      dirs.findSome? a.failure? = some (.unbuilt fault)) ∧
    ((∃ fault, a.load dirs settings = .error (.unavailable fault)) ↔
      (∀ dir ∈ dirs, a.failure? dir = none) ∧ ∀ s ∈ readable, s.isEmpty = true) ∧
    ((∀ dir ∈ dirs, a.failure? dir = none) → (∃ s ∈ readable, s.isEmpty = false) →
      ∃ db, a.load dirs settings = .ok db ∧
        db = { Database.build readable settings with sources := db.sources } ∧
        ∀ calls q, (db.after calls).answer q =
          ((Database.build readable settings).after calls).answer q) := by
  intro readable
  refine ⟨fun fault => load_eq_error_iff (by rintro _ ⟨⟩),
    fun fault => load_eq_error_iff (by rintro _ ⟨⟩), exists_load_eq_unavailable_iff,
    fun hexamined hsome => ?_⟩
  obtain ⟨sets, hread⟩ := exists_readAll_iff.mpr hexamined
  refine ⟨Database.build sets settings, load_of_usable hread hsome, build_readAll hread,
    fun calls q => ?_⟩
  rw [build_readAll hread, Database.after_withSources, Database.answer_withSources]

end Directory.Access

namespace FileTree

/-- It cannot be found out whether a path leads to a directory if its name is too long. -/
theorem isDirectory_of_longName (t : FileTree) (name : String)
    (hcurrent : t.node? t.workingDirectory = some .directory)
    (hnull : name.toList.contains '\x00' = false) (hdots : name ≠ "..")
    (hlong : nameLimit < name.utf8ByteSize) :
    t.isDirectory ⟨"", [name]⟩ = .error ⟨.nameTooLong, (⟨"", [name]⟩ : Path).text⟩ := by
  have hnoNull : hasNull ⟨"", [name]⟩ = false := by
    rw [hasNull, List.any_cons, hnull]
    rfl
  have hplace : t.place ⟨"", [name]⟩ = .error .nameTooLong := by
    have hfollow : t.follow t.workingDirectory [name] = .error .nameTooLong := by
      simp only [follow, hcurrent, if_neg hdots, if_pos hlong]
    unfold place
    split
    next => rfl
    next => exact hfollow
  have hexamine : t.examine ⟨"", [name]⟩ = .error .nameTooLong := by
    rw [examine, hplace]
    rfl
  unfold isDirectory isKind
  rw [hnoNull, hexamine]
  rfl

end FileTree

namespace Directory

theorem isDirectory_accessTo (files : FileTree) (dir : Path) :
    (accessTo files).isDirectory dir = files.isDirectory dir := rfl

/-- A tree with one directory that holds records. -/
def oneSource : FileTree :=
  ⟨[(["good"], .directory), (["good", "globs2"], .file "50:image/gif:*.gif".toUTF8.toList)], []⟩

def goodPath : Path := ⟨"", ["good"]⟩

/-- A path of a name that is too long. -/
def longPath : Path := ⟨"", [String.ofList (List.replicate 300 'x')]⟩

/-- A directory that can be loaded is lost behind a path that is too long. -/
theorem load_readable_longPath :
    (∃ db, load oneSource [goodPath] .default = .ok db) ∧
      (∃ s ∈ [longPath, goodPath].filterMap (accessTo oneSource).readable?, s.isEmpty = false) ∧
      load oneSource [longPath, goodPath] .default =
        .error (.refused ⟨.nameTooLong, longPath.text⟩) := by
  have hgood : ∃ s ∈ [goodPath].filterMap (accessTo oneSource).readable?, s.isEmpty = false := by
    decide +kernel
  have hrefused : (accessTo oneSource).isDirectory longPath =
      .error ⟨.nameTooLong, longPath.text⟩ := by
    have hnull : (String.ofList (List.replicate 300 'x')).toList.contains '\x00' = false := by
      rw [String.toList_ofList]
      decide +kernel
    rw [isDirectory_accessTo, longPath]
    exact FileTree.isDirectory_of_longName oneSource _ rfl hnull (by decide +kernel)
      (by decide +kernel)
  have hlong : (accessTo oneSource).readable? longPath = none := by
    rw [Access.readable?, hrefused]
  refine ⟨?_, ?_, ?_⟩
  · have hfine : ∀ dir ∈ [goodPath], (accessTo oneSource).failure? dir = none := by
      obtain ⟨s, hs, -⟩ := hgood
      obtain ⟨dir, hdir, hread⟩ := List.mem_filterMap.mp hs
      intro dir' hdir'
      rw [List.mem_singleton.mp hdir', ← List.mem_singleton.mp hdir]
      exact Access.failure?_of_readable? hread
    obtain ⟨db, hload, -⟩ :=
      ((accessTo oneSource).load_readable [goodPath] .default).2.2.2 hfine hgood
    exact ⟨db, hload⟩
  · rw [List.filterMap_cons_none hlong]
    exact hgood
  · have hfailure : (accessTo oneSource).failure? longPath =
        some (.refused ⟨.nameTooLong, longPath.text⟩) := by
      rw [Access.failure?, hrefused]
    refine (((accessTo oneSource).load_readable [longPath, goodPath] .default).1 _).mpr ?_
    rw [List.findSome?_cons, hfailure]

end Directory

end MimeDatabase
