import MimeDatabase.Database

/-!
# Publishing snapshots

A handle holds the current database. A new database is built completely before it takes the place of
the current one, so a failure leaves the handle as it was.
-/

namespace MimeDatabase

/-- The holder of the current database. -/
structure Handle where
  current : Database

namespace Handle

/-- The current database. -/
def get (h : Handle) : Database := h.current

/-- Puts a database in the place of the current one, which is returned. -/
def publish (h : Handle) (db : Database) : Database × Handle := (h.current, ⟨db⟩)

/-- Publishes what a builder returns, unless it fails. -/
def reloadWith {ε : Type} (h : Handle) (built : Except ε Database) :
    Except ε Database × Handle :=
  match built with
  | .ok db => (.ok db, (h.publish db).2)
  | .error e => (.error e, h)

/-- Publishes a database of new records with the current settings, if some record is usable. -/
def reload (h : Handle) (sets : List RecordSet) : Except Unavailable Database × Handle :=
  h.reloadWith (h.current.reload sets)

/-- What is logged when new records are published. -/
def reloadEvents (h : Handle) (sets : List RecordSet) : List Log.Event :=
  Database.loadEvents sets h.current.settings ++
    (if sets.all (·.isEmpty) then [] else [.snapshotPublished])

end Handle

end MimeDatabase
