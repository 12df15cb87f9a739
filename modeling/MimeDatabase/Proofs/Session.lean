import MimeDatabase.Proofs.Source.Loading
import MimeDatabase.Session

/-!
# Starting a session

A start finds the settings, sets the logger up, and loads the database, and each of these may fail.
The default handle is replaced last, so a start that fails keeps it. It is not so with the logger:
once the settings are found it is set up anew, and it stays as they ask for whatever happens then,
only without the log file if that was what failed (`start_replaces_handle_last`). Only where there
are no settings does a failed start change nothing at all.
-/

namespace MimeDatabase

/-! ## The logger that settings ask for -/

namespace LoggingSettings

/-- The log file. An empty name stands for none. -/
def logFile? (settings : LoggingSettings) : Option Path :=
  match settings.file with
  | none | some "" => none
  | some name => some (Path.ofText name)

/-- A logger of the console alone. -/
def consoleLogger (settings : LoggingSettings) : Log.Logger :=
  ⟨settings.level, [.console settings.layout]⟩

/-- A logger of the console and of the log file, if one is named. -/
def logger (settings : LoggingSettings) : Log.Logger :=
  ⟨settings.level, .console settings.layout :: (settings.logFile?.map Log.Sink.file).toList⟩

/-- Why the log file cannot be opened, if one is named. -/
def logFault? (settings : LoggingSettings) (files : FileTree) : Option OpenFault :=
  settings.logFile?.bind fun path => (Log.openLog files path).2

end LoggingSettings

namespace Log

variable {files : FileTree} {settings : LoggingSettings}

theorem configure_eq (files : FileTree) (settings : LoggingSettings) :
    configure files settings = setUp files settings.level settings.layout settings.logFile? := rfl

/-- To set a logger up fails if the log file cannot be opened. -/
theorem configure_fault? (files : FileTree) (settings : LoggingSettings) :
    (configure files settings).fault? = settings.logFault? files := by
  rw [configure_eq, LoggingSettings.logFault?]
  unfold setUp
  cases settings.logFile? with
  | none => rfl
  | some path =>
    dsimp only [Option.bind_some]
    obtain ⟨files', fault?⟩ := openLog files path
    cases fault? <;> rfl

/-- If it fails, the logger is that of the console. -/
theorem logger_configure_of_fault {fault : OpenFault}
    (h : settings.logFault? files = some fault) :
    (configure files settings).logger = settings.consoleLogger := by
  rw [LoggingSettings.logFault?] at h
  obtain ⟨path, hpath, hopen⟩ := Option.bind_eq_some_iff.mp h
  rw [configure_eq, hpath, setUp]
  generalize openLog files path = opened at hopen ⊢
  obtain ⟨files', fault?⟩ := opened
  obtain rfl : fault? = some fault := hopen
  rfl

theorem logger_configure (h : settings.logFault? files = none) :
    (configure files settings).logger = settings.logger := by
  rw [LoggingSettings.logFault?] at h
  rw [configure_eq, LoggingSettings.logger]
  cases hpath : settings.logFile? with
  | none => rfl
  | some path =>
    rw [hpath, Option.bind_some] at h
    unfold setUp
    dsimp only
    generalize openLog files path = opened at h ⊢
    obtain ⟨files', fault?⟩ := opened
    obtain rfl : fault? = none := h
    rfl

end Log

/-! ## The course of a start -/

namespace Session

/-- A session in which the logger was set up. -/
def withLogging (s : Session) (settings : LoggingSettings) : Session :=
  let done := Log.configure s.files settings
  { s with logger := done.logger, files := done.files }

variable {s : Session} {given? : Option Settings} {settings : Settings}

/-- Without settings a start ends at once. -/
theorem start_of_unsettled {fault : LoadFault} (h : s.allSettings given? = .error fault) :
    s.start given? = (.error fault, s) := by
  rw [start, h]

/-- A start ends if the log file cannot be opened. -/
theorem start_of_unopened {fault : OpenFault} (h : s.allSettings given? = .ok settings)
    (hlog : settings.logging.logFault? s.files = some fault) :
    s.start given? = (.error (.log fault), s.withLogging settings.logging) := by
  rw [start, h]
  dsimp only
  rw [Log.configure_fault?, hlog]
  rfl

/-- A start ends if no database can be loaded. -/
theorem start_of_unloaded {fault : LoadFault} (h : s.allSettings given? = .ok settings)
    (hlog : settings.logging.logFault? s.files = none)
    (hload : (s.withLogging settings.logging).loadSystem (some settings.database) =
      .error fault) :
    s.start given? = (.error fault, s.withLogging settings.logging) := by
  rw [withLogging] at hload
  rw [start, h]
  dsimp only
  rw [Log.configure_fault?, hlog]
  dsimp only
  rw [hload]
  rfl

/-- With settings, a log and a database a start makes a new default handle. -/
theorem start_of_loaded {db : Database} (h : s.allSettings given? = .ok settings)
    (hlog : settings.logging.logFault? s.files = none)
    (hload : (s.withLogging settings.logging).loadSystem (some settings.database) = .ok db) :
    s.start given? =
      (.ok ⟨db⟩, { s.withLogging settings.logging with handle? := some ⟨db⟩ }) := by
  rw [withLogging] at hload
  rw [start, h]
  dsimp only
  rw [Log.configure_fault?, hlog]
  dsimp only
  rw [hload]
  rfl

/-- Naming a fault otherwise makes no difference to what succeeds. -/
theorem mapError_eq_ok_iff {ε ε' α : Type} {f : ε → ε'} {x : Except ε α} {a : α} :
    x.mapError f = .ok a ↔ x = .ok a := by
  cases x with
  | error e => exact iff_of_false (by rintro ⟨⟩) (by rintro ⟨⟩)
  | ok b => exact ⟨fun h => congrArg Except.ok (Except.ok.inj h),
      fun h => congrArg Except.ok (Except.ok.inj h)⟩

/-- A database that is loaded under some settings is built from what the directories hold that the
settings name, and it has these settings. -/
theorem loadSystem_eq_ok_iff {database : DatabaseSettings} {db : Database} :
    s.loadSystem (some database) = .ok db ↔
      ∃ sets, (Directory.accessTo s.files).readAll (s.directories database) = .ok sets ∧
        (¬ ∀ set ∈ sets, set.isEmpty = true) ∧ db = Database.build sets database := by
  have hload : s.loadSystem (some database) =
      ((Directory.accessTo s.files).load (s.directories database) database).mapError
        ofDirectoryFault := rfl
  rw [hload, mapError_eq_ok_iff]
  cases hread : (Directory.accessTo s.files).readAll (s.directories database) with
  | error fault =>
    rw [Directory.Access.load_of_readAll_error hread]
    exact iff_of_false (by rintro ⟨⟩) (by rintro ⟨_, ⟨⟩, -⟩)
  | ok sets =>
    rw [Directory.Access.load_of_readAll_ok hread, mapError_eq_ok_iff, Database.load_eq_ok_iff]
    constructor
    · intro h
      exact ⟨sets, rfl, h⟩
    · rintro ⟨sets', hsets, h⟩
      obtain rfl := Except.ok.inj hsets
      exact h

/-- What a start owes: what comes of it, and the session that it leaves. -/
structure IsStart (s : Session) (given? : Option Settings) (outcome : Except LoadFault Handle)
    (after : Session) : Prop where
  /-- Without settings nothing changes. -/
  unsettled : ∀ fault, s.allSettings given? = .error fault →
    outcome = .error fault ∧ after = s
  /-- If the log file cannot be opened, the logger is that of the console. -/
  unopened : ∀ settings fault, s.allSettings given? = .ok settings →
    settings.logging.logFault? s.files = some fault →
      outcome = .error (.log fault) ∧ after.logger = settings.logging.consoleLogger
  /-- Otherwise the logger is that of the settings, and what comes of the start is what comes of
  loading the database under the same settings. -/
  opened : ∀ settings, s.allSettings given? = .ok settings →
    settings.logging.logFault? s.files = none →
      outcome = (after.loadSystem (some settings.database)).map Handle.mk ∧
        after.logger = settings.logging.logger
  /-- A failure leaves the default handle as it was. -/
  failed : ∀ fault, outcome = .error fault → after.handle? = s.handle?
  /-- On success the default handle is the one that is returned. Its database is built under the
  settings from what their directories hold. -/
  started : ∀ handle, outcome = .ok handle → after.handle? = some handle ∧
    ∃ settings, s.allSettings given? = .ok settings ∧ after.logger = settings.logging.logger ∧
      ∃ sets, (Directory.accessTo after.files).readAll (after.directories settings.database) =
        .ok sets ∧ handle.get = Database.build sets settings.database

theorem isStart_of_unsettled {fault : LoadFault} (h : s.allSettings given? = .error fault) :
    s.IsStart given? (.error fault) s := by
  have hnone : ∀ settings, s.allSettings given? ≠ .ok settings := by
    intro settings hsettings
    rw [h] at hsettings
    cases hsettings
  refine ⟨fun cause hcause => ?_, fun settings _ hsettings => absurd hsettings (hnone settings),
    fun settings hsettings => absurd hsettings (hnone settings), fun _ _ => rfl, ?_⟩
  · rw [h] at hcause
    exact ⟨congrArg Except.error (Except.error.inj hcause), rfl⟩
  · rintro handle ⟨⟩

/-- Once the settings are found, what a start owes is about them only. -/
theorem isStart_of_settled {outcome : Except LoadFault Handle} {after : Session}
    (h : s.allSettings given? = .ok settings)
    (unopened : ∀ fault, settings.logging.logFault? s.files = some fault →
      outcome = .error (.log fault) ∧ after.logger = settings.logging.consoleLogger)
    (opened : settings.logging.logFault? s.files = none →
      outcome = (after.loadSystem (some settings.database)).map Handle.mk ∧
        after.logger = settings.logging.logger)
    (failed : ∀ fault, outcome = .error fault → after.handle? = s.handle?)
    (started : ∀ handle, outcome = .ok handle → after.handle? = some handle ∧
      after.logger = settings.logging.logger ∧
      ∃ sets, (Directory.accessTo after.files).readAll (after.directories settings.database) =
        .ok sets ∧ handle.get = Database.build sets settings.database) :
    s.IsStart given? outcome after := by
  have hsame : ∀ settings', s.allSettings given? = .ok settings' → settings = settings' := by
    intro settings' hsettings
    rw [h] at hsettings
    exact Except.ok.inj hsettings
  refine ⟨fun cause hcause => ?_, fun settings' cause hsettings => ?_,
    fun settings' hsettings => ?_, failed, fun handle hhandle => ?_⟩
  · rw [h] at hcause
    cases hcause
  · obtain rfl := hsame settings' hsettings
    exact unopened cause
  · obtain rfl := hsame settings' hsettings
    exact opened
  · obtain ⟨hhandle, hlogger, hget⟩ := started handle hhandle
    exact ⟨hhandle, settings, h, hlogger, hget⟩

theorem isStart_of_unopened {fault : OpenFault} (h : s.allSettings given? = .ok settings)
    (hlog : settings.logging.logFault? s.files = some fault) :
    s.IsStart given? (.error (.log fault)) (s.withLogging settings.logging) := by
  apply isStart_of_settled h
  · intro cause hcause
    obtain rfl := Option.some.inj (hlog.symm.trans hcause)
    exact ⟨rfl, Log.logger_configure_of_fault hlog⟩
  · intro hnone
    rw [hlog] at hnone
    cases hnone
  · exact fun _ _ => rfl
  · rintro handle ⟨⟩

theorem isStart_of_unloaded {fault : LoadFault} (h : s.allSettings given? = .ok settings)
    (hlog : settings.logging.logFault? s.files = none)
    (hload : (s.withLogging settings.logging).loadSystem (some settings.database) =
      .error fault) :
    s.IsStart given? (.error fault) (s.withLogging settings.logging) := by
  apply isStart_of_settled h
  · intro cause hcause
    rw [hlog] at hcause
    cases hcause
  · intro _
    rw [hload]
    exact ⟨rfl, Log.logger_configure hlog⟩
  · exact fun _ _ => rfl
  · rintro handle ⟨⟩

theorem isStart_of_loaded {db : Database} (h : s.allSettings given? = .ok settings)
    (hlog : settings.logging.logFault? s.files = none)
    (hload : (s.withLogging settings.logging).loadSystem (some settings.database) = .ok db) :
    s.IsStart given? (.ok ⟨db⟩) { s.withLogging settings.logging with handle? := some ⟨db⟩ } := by
  have hlogger := Log.logger_configure hlog
  apply isStart_of_settled h
  · intro cause hcause
    rw [hlog] at hcause
    cases hcause
  · intro _
    -- a new handle makes no difference to what is loaded
    show _ = ((s.withLogging settings.logging).loadSystem (some settings.database)).map
      Handle.mk ∧ _
    rw [hload]
    exact ⟨rfl, hlogger⟩
  · rintro fault ⟨⟩
  · rintro handle ⟨⟩
    obtain ⟨sets, hread, -, hdb⟩ := loadSystem_eq_ok_iff.mp hload
    exact ⟨rfl, hlogger, sets, hread, hdb⟩

/-- **The default handle is replaced last**, whatever services a session runs with. A start that
fails keeps the default handle, and if it fails for want of settings, it keeps the logger too. Once
there are settings the logger is set up as they ask for, only without a log file that cannot be
opened. A start that succeeds returns the new default handle, and its database and the logger follow
the same settings. -/
theorem start_replaces_handle_last (s : Session) (given? : Option Settings) :
    s.IsStart given? (s.start given?).1 (s.start given?).2 := by
  cases hsettings : s.allSettings given? with
  | error fault =>
    rw [start_of_unsettled hsettings]
    exact isStart_of_unsettled hsettings
  | ok settings =>
    cases hlog : settings.logging.logFault? s.files with
    | some fault =>
      rw [start_of_unopened hsettings hlog]
      exact isStart_of_unopened hsettings hlog
    | none =>
      cases hload : (s.withLogging settings.logging).loadSystem (some settings.database) with
      | error fault =>
        rw [start_of_unloaded hsettings hlog hload]
        exact isStart_of_unloaded hsettings hlog hload
      | ok db =>
        rw [start_of_loaded hsettings hlog hload]
        exact isStart_of_loaded hsettings hlog hload

/-- A session with the standard services, with a default handle and with a logger that writes to a
file. -/
def logging : Session where
  services := .standard
  files := Directory.oneSource
  environment := []
  logger := ⟨.info, [.console .detailed, .file ⟨"/", ["app.log"]⟩]⟩
  handle? := some ⟨Database.build [] .default⟩

/-- The usual settings but for the directory, which is not there. -/
def misdirected : Settings := ⟨.default, { DatabaseSettings.default with dataDirs := ["missing"] }⟩

/-- A failed start changes the logger: afterwards it has another threshold and no log file. -/
theorem start_changes_logger :
    (logging.start (some misdirected)).1 = .error (.unavailable ⟨[], 0⟩) ∧
      logging.logger = ⟨.info, [.console .detailed, .file ⟨"/", ["app.log"]⟩]⟩ ∧
      (logging.start (some misdirected)).2.logger = ⟨.warning, [.console .simple]⟩ := by
  have hdirectory : (Directory.accessTo Directory.oneSource).isDirectory (Path.ofText "missing") =
      .ok false := by decide +kernel
  have hmissing : (Directory.accessTo Directory.oneSource).recordsAt (Path.ofText "missing") =
      .ok none := by
    rw [Directory.Access.recordsAt, hdirectory]
  have hread : (Directory.accessTo Directory.oneSource).readAll [Path.ofText "missing"] =
      .ok [] := by
    rw [Directory.Access.readAll_cons_of_ok hmissing]
    rfl
  have hload : (logging.withLogging .default).loadSystem (some misdirected.database) =
      .error (.unavailable ⟨[], 0⟩) := by
    show ((Directory.accessTo Directory.oneSource).load [Path.ofText "missing"]
      misdirected.database).mapError ofDirectoryFault = _
    rw [Directory.Access.load_of_readAll_ok hread]
    rfl
  have hstart : logging.start (some misdirected) =
      (.error (.unavailable ⟨[], 0⟩), logging.withLogging misdirected.logging) :=
    start_of_unloaded rfl rfl hload
  rw [hstart]
  exact ⟨rfl, rfl, rfl⟩

end Session

end MimeDatabase
