import MimeDatabase.Proofs.Database.Records

/-!
# Answers do not change

What a database once answered it answers for good, whatever names are interned in between
(`answer_after`). A name that was never recorded is looked up as a type without a number before it
is interned and as a numbered type afterwards. The tables know neither of the two, so both are
answered by the name alone; and a recorded name is interned from the start and keeps its number.

All is shown of one state: a database answers like the one with the registry that its tables were
built over (`IsOver.answer_eq`).
-/

namespace MimeDatabase.Database

section Over

variable {db : Database} {r : Registry}

/-- A name is looked up as in the registry of the tables, or as a type that they do not know. -/
theorem IsOver.twins_lookup (h : db.IsOver r) (name : String) :
    r.Twins (db.lookup name) ({ db with registry := r }.lookup name) :=
  Registry.twins_lookup h.grown _

/-- Whether two names are looked up as one type does not depend on the registry. -/
theorem IsOver.lookup_eq_iff (h : db.IsOver r) (a b : String) :
    db.lookup a = db.lookup b ↔
      { db with registry := r }.lookup a = { db with registry := r }.lookup b := by
  have hnormal : ({ db with registry := r } : Database).aliases.Normal := h.aliases
  rw [Database.lookup_eq_iff h.aliases, Database.lookup_eq_iff hnormal]

theorem IsOver.unalias_eq (h : db.IsOver r) (name : String) :
    db.unalias name = { db with registry := r }.unalias name := by
  unfold unalias
  cases htarget : db.aliases.unalias? name with
  | none => rfl
  | some target =>
    exact congrArg some (Registry.lookup_of_contains h.grown (h.target name target htarget))

/-- The names that were added to the registry since the tables were built make no difference. -/
theorem IsOver.answer_eq (h : db.IsOver r) (q : Query) :
    db.answer q = { db with registry := r }.answer q := by
  have htwins := h.twins_lookup
  cases q with
  | sameType a b => exact decide_eq_decide.mpr (h.lookup_eq_iff a b)
  | isSubtype name base =>
    exact h.hierarchy.isSubtype_congr (htwins name) (htwins base) (h.lookup_eq_iff name base)
  | ancestors name => exact h.hierarchy.ancestors_congr (htwins name)
  | parents name => exact h.hierarchy.parents_congr (htwins name)
  | unalias name => exact h.unalias_eq name
  | iconName name => exact h.icons.iconName_congr (htwins name)
  | genericIconName name => exact h.icons.genericIconName_congr h.hierarchy (htwins name)
  | iconNames name => exact h.icons.iconNames_congr h.hierarchy (htwins name)
  | globMatch | globCandidates | lookupData | detect | detectFile | maxExtent =>
    -- these do not look at the registry
    rfl

/-- The tables may be keyed by numbers: a type of theirs has the number of what a name is looked up
as only if it is that type, even though all names that are not interned have no number. -/
theorem IsOver.id_eq_lookup_id_iff (h : db.IsOver r) {t : MediaType} (ht : r.Holds t)
    (name : String) : t.id = (db.lookup name).id ↔ t = db.lookup name :=
  (ht.of_grown h.grown).id_eq_lookup_iff _

end Over

/-- **A snapshot's answers never change.** Whatever calls a database has seen (`before`), later ones
change none of its answers, numbers of types included. -/
theorem answer_after (sets : List RecordSet) (settings : DatabaseSettings)
    (before later : List Call) (q : Query) :
    (((build sets settings).after before).after later).answer q =
      ((build sets settings).after before).answer q := by
  have hover := (isOver_build sets settings).after before
  rw [hover.answer_eq, (hover.after later).answer_eq]
  simp only [after_eq]

end MimeDatabase.Database
