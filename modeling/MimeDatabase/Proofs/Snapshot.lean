import MimeDatabase.Snapshot

/-!
# Chains of snapshots

A handle is used by operations, one after the other, of which some fail. What is current in front of
an operation is what was put in place last, and its settings are those of the last database that
came from outside, however often records were reloaded since (`steps_follow`). Each database that
was ever in place is replaced once, but for the one that is current in the end.
-/

namespace MimeDatabase.Handle

/-- What can be done with a handle. A builder may look at the current database. If it uses the
handle in other ways, then these operations come before its own. -/
inductive Operation (ε : Type) where
  | get
  | publish (db : Database)
  | reload (sets : List RecordSet)
  | reloadWith (build : Database → Except ε Database)

/-- Why an operation fails. -/
inductive OperationFault (ε : Type) where
  | unavailable (fault : Unavailable)
  | builder (fault : ε)

variable {ε : Type}

/-- What an operation returns, and the handle that it leaves. -/
def perform (h : Handle) : Operation ε → Except (OperationFault ε) Database × Handle
  | .get => (.ok h.get, h)
  | .publish db => (.ok (h.publish db).1, (h.publish db).2)
  | .reload sets => ((h.reload sets).1.mapError .unavailable, (h.reload sets).2)
  | .reloadWith build =>
    ((h.reloadWith (build h.get)).1.mapError .builder, (h.reloadWith (build h.get)).2)

/-- An operation and the handle that it finds. -/
structure Step (ε : Type) where
  before : Handle
  operation : Operation ε

namespace Step

/-- What the operation returns. -/
def outcome (s : Step ε) : Except (OperationFault ε) Database := (s.before.perform s.operation).1

/-- The handle that the operation leaves. -/
def after (s : Step ε) : Handle := (s.before.perform s.operation).2

/-- The database that the operation puts in place of the current one. -/
def installed? (s : Step ε) : Option Database :=
  match s.operation with
  | .get => none
  | .publish db => some db
  | .reload _ | .reloadWith _ => s.outcome.toOption

/-- The database that comes from outside and is put in place. -/
def supplied? (s : Step ε) : Option Database :=
  match s.operation with
  | .get | .reload _ => none
  | .publish db => some db
  | .reloadWith _ => s.outcome.toOption

/-- The database that loses its place. -/
def replaced? (s : Step ε) : Option Database := s.installed?.map fun _ => s.before.get

/-- The operation goes as it should if one database is current and another one is the last that came
from outside. -/
structure Follows (s : Step ε) (current supplied : Database) : Prop where
  before : s.before.get = current
  get : s.operation = .get → s.outcome = .ok current
  publish : ∀ db, s.operation = .publish db →
    s.outcome = .ok current ∧ s.replaced? = some current
  reload_error : ∀ sets fault, s.operation = .reload sets →
    (s.outcome = .error fault ↔ (∀ r ∈ sets, r.isEmpty = true) ∧
      fault = .unavailable ⟨sets.map (·.source), Database.skippedCount sets⟩)
  reload_ok : ∀ sets db, s.operation = .reload sets → s.outcome = .ok db →
    db = Database.build sets current.settings ∧ db.settings = supplied.settings
  reloadWith : ∀ build, s.operation = .reloadWith build →
    s.outcome = (build current).mapError .builder
  error : ∀ fault, s.outcome = .error fault → s.after.get = current

end Step

/-! ## One operation -/

theorem toOption_mapError {ε ε' α : Type} (f : ε → ε') (x : Except ε α) :
    (x.mapError f).toOption = x.toOption := by
  cases x <;> rfl

/-- A reload installs what was built, and keeps the old database if nothing was. -/
theorem reloadWith_eq (h : Handle) (built : Except ε Database) :
    h.reloadWith built = (built, ⟨built.toOption.getD h.get⟩) := by
  cases built <;> rfl

namespace Step

/-- An operation leaves what it puts in place, or else what it finds. -/
theorem get_after (s : Step ε) : s.after.get = s.installed?.getD s.before.get := by
  obtain ⟨h, op⟩ := s
  cases op with
  | get => rfl
  | publish db => rfl
  | reload sets =>
    simp only [after, installed?, outcome, perform, reload, reloadWith_eq, toOption_mapError]
    rfl
  | reloadWith build =>
    simp only [after, installed?, outcome, perform, reloadWith_eq, toOption_mapError]
    rfl

/-- An operation leaves the settings of what comes from outside, or else those that it finds. -/
theorem settings_after (s : Step ε) :
    s.after.get.settings = (s.supplied?.getD s.before.get).settings := by
  obtain ⟨h, op⟩ := s
  cases op with
  | get => rfl
  | publish db => rfl
  | reload sets =>
    simp only [after, supplied?, perform, reload, reloadWith_eq]
    cases hreload : h.current.reload sets with
    | error fault => rfl
    | ok db =>
      obtain ⟨-, rfl⟩ := Database.load_eq_ok_iff.mp hreload
      rfl
  | reloadWith build =>
    simp only [after, supplied?, outcome, perform, reloadWith_eq, toOption_mapError]
    rfl

/-- An operation that fails puts nothing in place. -/
theorem installed?_of_error {s : Step ε} {fault : OperationFault ε}
    (hfault : s.outcome = .error fault) : s.installed? = none := by
  obtain ⟨h, op⟩ := s
  cases op with
  | get => rfl
  | publish db => cases hfault
  | reload sets => exact congrArg Except.toOption hfault
  | reloadWith build => exact congrArg Except.toOption hfault

/-- Every operation goes as it should, whatever database was the last from outside, as long as the
current one has its settings. -/
theorem follows (s : Step ε) {supplied : Database}
    (hsettings : s.before.get.settings = supplied.settings) : s.Follows s.before.get supplied := by
  obtain ⟨h, op⟩ := s
  refine ⟨rfl, ?get, ?publish, ?reload_error, ?reload_ok, ?reloadWith, ?error⟩
  case get =>
    rintro rfl
    rfl
  case publish =>
    rintro db rfl
    exact ⟨rfl, rfl⟩
  case reload_error =>
    rintro sets fault rfl
    simp only [outcome, perform, reload, reloadWith_eq]
    cases hreload : h.current.reload sets with
    | error cause =>
      obtain ⟨hempty, rfl⟩ := Database.load_eq_error_iff.mp hreload
      exact ⟨fun herror => ⟨hempty, (Except.error.inj herror).symm⟩,
        fun hfault => congrArg Except.error hfault.2.symm⟩
    | ok db =>
      have husable := (Database.load_eq_ok_iff.mp hreload).1
      exact iff_of_false (by rintro ⟨⟩) fun hfault => husable hfault.1
  case reload_ok =>
    rintro sets db rfl hok
    simp only [outcome, perform, reload, reloadWith_eq] at hok
    cases hreload : h.current.reload sets with
    | error cause =>
      rw [hreload] at hok
      cases hok
    | ok built =>
      rw [hreload] at hok
      obtain rfl := Except.ok.inj hok
      obtain ⟨-, rfl⟩ := Database.load_eq_ok_iff.mp hreload
      exact ⟨rfl, hsettings⟩
  case reloadWith =>
    rintro build rfl
    simp only [outcome, perform, reloadWith_eq]
  case error =>
    intro fault hfault
    rw [get_after, installed?_of_error hfault, Option.getD_none]

end Step

/-! ## Operations one after the other -/

/-- The steps that some operations take. -/
def steps (h : Handle) : List (Operation ε) → List (Step ε)
  | [] => []
  | op :: ops => ⟨h, op⟩ :: steps (Step.mk h op).after ops

/-- The handle that some operations leave. -/
def after (h : Handle) (ops : List (Operation ε)) : Handle :=
  ops.foldl (fun h op => (Step.mk h op).after) h

theorem map_operation_steps (h : Handle) (ops : List (Operation ε)) :
    (h.steps ops).map (·.operation) = ops := by
  induction ops generalizing h with
  | nil => rfl
  | cons op ops ih => rw [steps, List.map_cons, ih]

theorem getLastD_filterMap_cons (f : Step ε → Option Database) (s : Step ε) (front : List (Step ε))
    (initial : Database) : ((s :: front).filterMap f).getLastD initial =
      (front.filterMap f).getLastD ((f s).getD initial) := by
  cases hf : f s with
  | none => rw [List.filterMap_cons_none hf, Option.getD_none]
  | some db => rw [List.filterMap_cons_some hf, List.getLastD_cons, Option.getD_some]

/-- What holds of a handle and a database, and is kept by every step if the database gives way to
what the step has instead, holds of what each step finds and the last database in front of it. -/
theorem before_of_steps (kept : Handle → Database → Prop) {f : Step ε → Option Database}
    (hstep : ∀ s db, kept s.before db → kept s.after ((f s).getD db)) {h : Handle}
    {ops : List (Operation ε)} {front back : List (Step ε)} {s : Step ε}
    (hsteps : h.steps ops = front ++ s :: back) {initial : Database} (hinitial : kept h initial) :
    kept s.before ((front.filterMap f).getLastD initial) := by
  induction front generalizing h ops initial with
  | nil =>
    cases ops with
    | nil => cases hsteps
    | cons op ops =>
      obtain ⟨rfl, -⟩ := List.cons.inj hsteps
      exact hinitial
  | cons first front ih =>
    cases ops with
    | nil => cases hsteps
    | cons op ops =>
      obtain ⟨rfl, hrest⟩ := List.cons.inj hsteps
      -- what the first step leaves takes the place of the initial handle and database
      rw [getLastD_filterMap_cons]
      exact ih hrest (hstep _ _ hinitial)

/-- A step finds what was put in place last. -/
theorem get_before_of_steps {h : Handle} {ops : List (Operation ε)} {front back : List (Step ε)}
    {s : Step ε} (hsteps : h.steps ops = front ++ s :: back) :
    s.before.get = (front.filterMap Step.installed?).getLastD h.get := by
  refine before_of_steps (fun h db => h.get = db) (fun s db hget => ?_) hsteps rfl
  rw [Step.get_after, hget]

/-- A step finds the settings of the last database that came from outside. -/
theorem settings_before_of_steps {h : Handle} {ops : List (Operation ε)}
    {front back : List (Step ε)} {s : Step ε} (hsteps : h.steps ops = front ++ s :: back) :
    s.before.get.settings =
      ((front.filterMap Step.supplied?).getLastD h.get).settings := by
  refine before_of_steps (fun h db => h.get.settings = db.settings)
    (fun s db hsettings => ?_) hsteps rfl
  rw [Step.settings_after]
  cases s.supplied? with
  | none => exact hsettings
  | some supplied => rfl

/-- What is put in place is replaced in the same order, but for what is current in the end. -/
theorem installed_eq_replaced (h : Handle) (ops : List (Operation ε)) :
    h.get :: (h.steps ops).filterMap Step.installed? =
      (h.steps ops).filterMap Step.replaced? ++ [(h.after ops).get] := by
  induction ops generalizing h with
  | nil => rfl
  | cons op ops ih =>
    have hget : (Step.mk h op).after.get = (Step.mk h op).installed?.getD h.get :=
      (Step.mk h op).get_after
    -- the other operations find what this one puts in place, or else what it found itself
    have hrest := ih (Step.mk h op).after
    rw [hget] at hrest
    rw [steps]
    cases hinstalled : (Step.mk h op).installed? with
    | none =>
      have hreplaced : (Step.mk h op).replaced? = none := by
        rw [Step.replaced?, hinstalled, Option.map_none]
      rw [hinstalled] at hrest
      rw [List.filterMap_cons_none hinstalled, List.filterMap_cons_none hreplaced]
      exact hrest
    | some db =>
      have hreplaced : (Step.mk h op).replaced? = some h.get := by
        rw [Step.replaced?, hinstalled, Option.map_some]
      rw [hinstalled] at hrest
      rw [List.filterMap_cons_some hinstalled, List.filterMap_cons_some hreplaced,
        List.cons_append]
      exact congrArg (h.get :: ·) hrest

/-- **Chains of snapshots.** Whatever operations follow one another, each goes as it should, where
the current database is the one that was put in place last in front of it, or else the initial one,
and likewise the last one from outside. And the databases that were in place are those that were
replaced, each in its turn, and the final one. -/
theorem steps_follow (initial : Database) (ops : List (Operation ε)) :
    let steps := (Handle.mk initial).steps ops
    let final := ((Handle.mk initial).after ops).get
    steps.map (·.operation) = ops ∧
      (∀ front s back, steps = front ++ s :: back →
        s.Follows ((front.filterMap Step.installed?).getLastD initial)
          ((front.filterMap Step.supplied?).getLastD initial)) ∧
      initial :: steps.filterMap Step.installed? = steps.filterMap Step.replaced? ++ [final] := by
  refine ⟨map_operation_steps _ ops, fun front s back hsteps => ?_, installed_eq_replaced _ ops⟩
  have hcurrent : s.before.get = (front.filterMap Step.installed?).getLastD initial :=
    get_before_of_steps hsteps
  rw [← hcurrent]
  exact s.follows (settings_before_of_steps hsteps)

/-- Settings that follow few aliases. -/
def cautious : DatabaseSettings := { DatabaseSettings.default with aliasMaxDepth := 2 }

def noteSource : RecordSet :=
  { RecordSet.empty "memory" with globs := [⟨"text/x-note", "*.note", 50, false⟩] }

/-- A database is published and its records are replaced; what follows fails. -/
def failingReloads : List (Operation String) :=
  [.publish (Database.build [] cautious), .reload [noteSource], .reload [RecordSet.empty "nothing"],
    .reloadWith fun _ => .error "not found"]

/-- In the end there are the new records, under the settings of the published database. -/
theorem steps_follow_failingReloads :
    let initial := Database.build [] .default
    let found : Step String := ⟨(Handle.mk initial).after failingReloads, .get⟩
    (Handle.mk initial).steps (failingReloads ++ [.get]) =
        (Handle.mk initial).steps failingReloads ++ [found] ∧
      found.outcome = .ok (Database.build [noteSource] cautious) := by
  intro initial found
  have hsteps : (Handle.mk initial).steps (failingReloads ++ [.get]) =
      (Handle.mk initial).steps failingReloads ++ [found] := rfl
  have hfollows := (steps_follow initial (failingReloads ++ [.get])).2.1 _ found [] hsteps
  exact ⟨hsteps, hfollows.get rfl⟩

end MimeDatabase.Handle
