import MimeDatabase.Text.Case

/-!
# Log levels

The severity of a log record, and the threshold below which records are not written.
-/

namespace MimeDatabase.Log

/-- The severity of a record, or as a threshold the least severity that is written. -/
inductive Level where
  /-- No severity. As a threshold it lets every severity pass. -/
  | unset
  | debug
  | info
  | warning
  | error
  | critical
  deriving DecidableEq, Repr

namespace Level

/-- The name that a level is shown by. -/
def name : Level → String
  | unset => "NOTSET"
  | debug => "DEBUG"
  | info => "INFO"
  | warning => "WARNING"
  | error => "ERROR"
  | critical => "CRITICAL"

/-- The place of a level, the least severe first. -/
def rank : Level → Nat
  | unset => 0
  | debug => 1
  | info => 2
  | warning => 3
  | error => 4
  | critical => 5

/-- The level of a name in upper case; two levels have another name beside their own. -/
def ofName? (name : String) : Option Level :=
  if name = "WARN" then some warning
  else if name = "FATAL" then some critical
  else [unset, debug, info, warning, error, critical].find? (·.name = name)

/-- Whether a record of a level is written under a threshold. One without severity never is. -/
def admits (threshold level : Level) : Bool := level ≠ .unset && threshold.rank ≤ level.rank

/-- A name in upper case. -/
def upperName (name : String) : String := String.ofList (Text.upper name.toList)

/-- The level of a name in any case. -/
def ofAnyCase? (name : String) : Option Level := ofName? (upperName name)

end Level

end MimeDatabase.Log
