import MimeDatabase.Config.Value
import MimeDatabase.Log.Event

/-!
# Log entries

An event together with the fields of the context in which it is logged.
-/

namespace MimeDatabase.Log

/-- A logged event. -/
structure Entry where
  event : Event
  fields : Table
  deriving Repr

namespace Entry

/-- Events that are logged outside any context. -/
def plain (events : List Event) : List Entry := events.map (⟨·, []⟩)

/-- Events that are logged inside a context. -/
def within (fields : Table) (events : List Event) : List Entry := events.map (⟨·, fields⟩)

end Entry

end MimeDatabase.Log
