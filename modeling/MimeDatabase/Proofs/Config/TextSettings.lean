import MimeDatabase.Proofs.Config.Layers

/-!
# Text settings from the environment

What becomes of a setting that is a text when a variable gives it. The value of a variable is
converted before it is known which setting it is for, so what reads as a truth value, a number or a
list is no text any more, and a setting that has to be a text refuses it. A variable therefore sets
a text setting exactly if its value is plain (`Config.load_textSetting`): the file `2024` and the
file `/var/log/a,b` cannot be given in this way. Texts in configuration files are not converted.
That a text setting takes texts and nothing else is what is asked of the check of settings
(`Services.TakesTexts`).
-/

namespace MimeDatabase

/-- A value that stands for a text, be it a broken one, or for none. -/
def Value.maybeText : Value → Bool
  | .null | .text _ | .brokenText _ => true
  | _ => false

/-! ## Plain values -/

namespace Environment

/-- A value of a variable that stands for itself: it reads neither as a truth value nor as a number,
which is a floating-point number if it has a point, and nothing in it separates items. -/
structure IsPlain (value : String) : Prop where
  notTruth : Text.lower value.toList ∉
    ["true".toList, "yes".toList, "false".toList, "no".toList]
  notInteger : '.' ∉ value.toList → Text.int? value.toList = none
  notDecimal : '.' ∈ value.toList → Decimal.ofText? value.toList = none
  noComma : ',' ∉ value.toList
  noColon : ':' ∉ value.toList

variable {value : String} {cs : List Char}

/-- What is read as a truth value is one of four words, in any case. -/
theorem truth?_eq_none_iff : truth? cs = none ↔
    Text.lower cs ∉ ["true".toList, "yes".toList, "false".toList, "no".toList] := by
  rw [truth?]
  grind

/-- A text with a point has to be a floating-point number to be a number, and any other an integer.
-/
theorem number?_eq_none_iff : number? cs = none ↔
    ('.' ∉ cs → Text.int? cs = none) ∧ ('.' ∈ cs → Decimal.ofText? cs = none) := by
  rw [number?]
  by_cases hpoint : '.' ∈ cs
  · simp [hpoint]
  · simp [hpoint]

theorem list?_eq_none_iff : list? cs = none ↔ ',' ∉ cs ∧ ':' ∉ cs := by
  rw [list?]
  split_ifs <;> simp_all

/-- The plain values are those that the conversion makes nothing of. -/
theorem isPlain_iff : IsPlain value ↔ truth? value.toList = none ∧ number? value.toList = none ∧
    list? value.toList = none := by
  rw [truth?_eq_none_iff, number?_eq_none_iff, list?_eq_none_iff]
  exact ⟨fun h => ⟨h.notTruth, ⟨h.notInteger, h.notDecimal⟩, h.noComma, h.noColon⟩,
    fun ⟨htruth, ⟨hinteger, hdecimal⟩, hcomma, hcolon⟩ =>
      ⟨htruth, hinteger, hdecimal, hcomma, hcolon⟩⟩

/-- A plain value is converted to itself as a text. -/
theorem convert_of_plain (h : IsPlain value) : convert value = .text value := by
  obtain ⟨htruth, hnumber, hlist⟩ := isPlain_iff.mp h
  rw [convert, htruth, hnumber, hlist]
  rfl

/-- What is not plain is converted to something that is no text, and not to nothing. -/
theorem not_maybeText_convert (h : ¬ IsPlain value) : (convert value).maybeText = false := by
  rcases convert_cases value with ⟨_, hc⟩ | ⟨_, hc⟩ | ⟨_, hc⟩ | ⟨_, hc⟩ | ⟨-, hplain⟩
  · rw [hc]
    rfl
  · rw [hc]
    rfl
  · rw [hc]
    rfl
  · rw [hc]
    rfl
  · exact absurd (isPlain_iff.mpr hplain) h

/-! ## A single variable -/

variable {app : String} {config : Table} {before after : Environment} {v : String × String}

/-- A variable without the prefix of an application leaves its configuration alone. -/
theorem override_of_other (h : ¬ prefixOf app <+: v.1.toList) : override app config v = config := by
  have hnone : dropBeginning? (prefixOf app) v.1.toList = none := by
    refine Option.eq_none_iff_forall_ne_some.mpr fun rest hrest => h ⟨rest, ?_⟩
    exact (dropBeginning?_eq_some_iff.mp hrest).symm
  rw [override, target?, hnone]

/-- Variables that are not those of an application do not count. -/
theorem overrideAll_of_other {env : Environment} (h : ∀ u ∈ env, ¬ prefixOf app <+: u.1.toList)
    (config : Table) : overrideAll env app config = config := by
  induction env with
  | nil => rfl
  | cons u env ih =>
    rw [List.forall_mem_cons] at h
    rw [overrideAll, List.foldl_cons, override_of_other h.1]
    exact ih h.2

/-- If only one variable has the prefix of an application, it alone counts. -/
theorem overrideAll_single (h : ∀ u ∈ before ++ after, ¬ prefixOf app <+: u.1.toList) :
    overrideAll (before ++ v :: after) app config = override app config v := by
  rw [List.forall_mem_append] at h
  have hbefore := overrideAll_of_other h.1 config
  have hafter := overrideAll_of_other h.2 (override app config v)
  rw [overrideAll] at hbefore hafter ⊢
  rw [List.foldl_append, hbefore, List.foldl_cons, hafter]

end Environment

/-! ## Tables with a single setting -/

namespace Schema

variable {α : Type} {k key : String} {v : Value}

/-- A key that is given is read. -/
theorem field_single (k : String) (v : Value) (usual : α) (read : Value → Reading α) :
    field [(k, v)] k usual read = under (.key k) (read v) := by
  rw [field, Table.get?_single_eq_some_iff.mpr ⟨rfl, rfl⟩]

theorem field_other (h : k ≠ key) (v : Value) (usual : α) (read : Value → Reading α) :
    field [(k, v)] key usual read = .ok usual := by
  rw [field, Table.get?, if_neg h]
  rfl

/-- A value that cannot stand for a text is refused as a text and as one that may be missing. -/
theorem readText_of_not_maybeText (h : v.maybeText = false) :
    readText v = refuse .notText ∧ readOptionalText v = refuse .notText := by
  cases v with
  | null | text _ | brokenText _ => cases h
  | bool _ | int _ | float _ | moment _ | list _ | table _ => exact ⟨rfl, rfl⟩

theorem readLogging_file (v : Value) : readLogging [("file", v)] =
    (under (.key "file") (readOptionalText v)).map fun file =>
      { LoggingSettings.default with file := file } := by
  have hunknown : unknownKeys ["level", "format", "file"] [("file", v)] = [] := rfl
  rw [readLogging, hunknown, field_other (by decide), field_other (by decide), field_single]
  cases under (.key "file") (readOptionalText v) with
  | ok file => rfl
  | error ps => simp [problems, Except.map]

theorem readDatabase_icon (v : Value) : readDatabase [("default_generic_icon", v)] =
    (under (.key "default_generic_icon") (readFilledText v)).map fun icon =>
      { DatabaseSettings.default with defaultGenericIcon := icon } := by
  have hunknown : unknownKeys ["data_dirs", "max_sniff_bytes", "alias_max_depth",
      "default_generic_icon"] [("default_generic_icon", v)] = [] := rfl
  rw [readDatabase, hunknown, field_other (by decide), field_other (by decide),
    field_other (by decide), field_single]
  cases under (.key "default_generic_icon") (readFilledText v) with
  | ok icon => rfl
  | error ps => simp [problems, Except.map]

theorem readSettings_logging (t : Table) : readSettings [("logging", .table t)] =
    (under (.key "logging") (readLogging t)).map fun logging =>
      { Settings.default with logging := logging } := by
  have hunknown : unknownKeys ["logging", "database"] [("logging", .table t)] = [] := rfl
  rw [readSettings, hunknown, field_single, field_other (by decide), section?]
  cases under (.key "logging") (readLogging t) with
  | ok logging => rfl
  | error ps => simp [problems, Except.map]

theorem readSettings_database (t : Table) : readSettings [("database", .table t)] =
    (under (.key "database") (readDatabase t)).map fun database =>
      { Settings.default with database := database } := by
  have hunknown : unknownKeys ["logging", "database"] [("database", .table t)] = [] := rfl
  rw [readSettings, hunknown, field_other (by decide), field_single, section?]
  cases under (.key "database") (readDatabase t) with
  | ok database => rfl
  | error ps => simp [problems, Except.map]

end Schema

/-! ## Settings that are texts -/

/-- The settings that are texts. -/
inductive TextSetting where
  | logFile
  | genericIcon
  deriving DecidableEq, Repr

namespace TextSetting

/-- The variable that gives a setting. -/
def variableName : TextSetting → String
  | logFile => "SHARED_MIME_LOGGING_FILE"
  | genericIcon => "SHARED_MIME_DATABASE_DEFAULT_GENERIC_ICON"

/-- The section that a setting is in. -/
def group : TextSetting → String
  | logFile => "logging"
  | genericIcon => "database"

/-- The key of a setting. -/
def key : TextSetting → String
  | logFile => "file"
  | genericIcon => "default_generic_icon"

/-- The usual settings but for one. -/
def settings (value : String) : TextSetting → Settings
  | logFile =>
    { Settings.default with logging := { LoggingSettings.default with file := some value } }
  | genericIcon =>
    { Settings.default with
      database := { DatabaseSettings.default with defaultGenericIcon := value } }

/-- The variable of a setting is taken for that setting. -/
theorem target?_variableName (setting : TextSetting) :
    Environment.target? Config.appName setting.variableName =
      some (setting.group, setting.key) := by
  cases setting <;> decide +kernel

/-- A text that is not empty is taken as the setting, and all others are the usual ones. -/
theorem readSettings_text (setting : TextSetting) {value : String} (h : value ≠ "") :
    Schema.readSettings [(setting.group, .table [(setting.key, .text value)])] =
      .ok (setting.settings value) := by
  cases setting with
  | logFile =>
    rw [group, key, Schema.readSettings_logging, Schema.readLogging_file]
    rfl
  | genericIcon =>
    have hfilled : Schema.readFilledText (.text value) = .ok value := if_neg h
    rw [group, key, Schema.readSettings_database, Schema.readDatabase_icon, hfilled]
    rfl

/-- What cannot stand for a text is refused, with the setting as its place. -/
theorem readSettings_notText (setting : TextSetting) {v : Value} (h : v.maybeText = false) :
    Schema.readSettings [(setting.group, .table [(setting.key, v)])] =
      .error [⟨[.key setting.group, .key setting.key], .notText⟩] := by
  obtain ⟨htext, hoptional⟩ := Schema.readText_of_not_maybeText h
  cases setting with
  | logFile =>
    rw [group, key, Schema.readSettings_logging, Schema.readLogging_file, hoptional]
    rfl
  | genericIcon =>
    have hfilled : Schema.readFilledText v = Schema.refuse .notText := by
      rw [Schema.readFilledText, htext]
      rfl
    rw [group, key, Schema.readSettings_database, Schema.readDatabase_icon, hfilled]
    rfl

end TextSetting

/-- What a text setting asks of the check of settings: it takes every text but the empty one, and
where a value cannot stand for a text it says so, with its place. -/
structure Services.TakesTexts (services : Services) (setting : TextSetting) : Prop where
  taken : ∀ value, value ≠ "" →
    services.readSettings [(setting.group, .table [(setting.key, .text value)])] =
      .ok (setting.settings value)
  refused : ∀ v : Value, v.maybeText = false →
    services.readSettings [(setting.group, .table [(setting.key, v)])] =
      .error [⟨[.key setting.group, .key setting.key], .notText⟩]

theorem Services.standard_takesTexts (setting : TextSetting) : standard.TakesTexts setting :=
  ⟨fun _ => setting.readSettings_text, fun _ => setting.readSettings_notText⟩

namespace Config

/-- A single variable that gives a text setting gives exactly the plain texts. Any other text is
refused, with the setting as its place. -/
theorem load_textSetting {services : Services} {setting : TextSetting}
    (hservices : services.TakesTexts setting) {files : FileTree} {before after : Environment}
    {value : String} (hvalue : value ≠ "")
    (hothers : ∀ u ∈ before ++ after, ¬ Environment.prefixOf appName <+: u.1.toList)
    (hfiles : ∀ path ∈ layerFiles services (before ++ (setting.variableName, value) :: after) none,
      files.isFile path = .ok false) :
    (Environment.IsPlain value →
      load services files (before ++ (setting.variableName, value) :: after) none =
        .ok (setting.settings value)) ∧
    (¬ Environment.IsPlain value →
      load services files (before ++ (setting.variableName, value) :: after) none =
        .error (.invalid appName [⟨[.key setting.group, .key setting.key], .notText⟩])) := by
  have htable : Environment.overrideAll (before ++ (setting.variableName, value) :: after) appName
      [] = [(setting.group, .table [(setting.key, Environment.convert value)])] := by
    rw [Environment.overrideAll_single hothers, Environment.override,
      setting.target?_variableName]
    rfl
  rw [load_of_layered (layered_absent hfiles []), htable]
  constructor
  · intro hplain
    rw [Environment.convert_of_plain hplain, hservices.taken value hvalue]
    rfl
  · intro hplain
    rw [hservices.refused _ (Environment.not_maybeText_convert hplain)]
    rfl

/-- An icon is taken, and a log file with a number for its name is refused. -/
theorem load_textSetting_iconAndYear :
    load .standard ⟨[], []⟩ [("HOME", "/home/me"),
        ("SHARED_MIME_DATABASE_DEFAULT_GENERIC_ICON", "unknown")] none =
      .ok (TextSetting.genericIcon.settings "unknown") ∧
    load .standard ⟨[], []⟩ [("HOME", "/home/me"), ("SHARED_MIME_LOGGING_FILE", "2024")] none =
      .error (.invalid appName [⟨[.key "logging", .key "file"], .notText⟩]) := by
  have hicon : Environment.IsPlain "unknown" :=
    ⟨by decide +kernel, by decide +kernel, by decide +kernel, by decide, by decide⟩
  have hyear : ¬ Environment.IsPlain "2024" := fun h =>
    absurd (h.notInteger (by decide)) (by decide +kernel)
  exact ⟨(@load_textSetting .standard .genericIcon (Services.standard_takesTexts .genericIcon)
      ⟨[], []⟩ [("HOME", "/home/me")] [] "unknown"
      (by decide) (by decide +kernel) (by decide +kernel)).1 hicon,
    (@load_textSetting .standard .logFile (Services.standard_takesTexts .logFile)
      ⟨[], []⟩ [("HOME", "/home/me")] [] "2024"
      (by decide) (by decide +kernel) (by decide +kernel)).2 hyear⟩

end Config
end MimeDatabase
