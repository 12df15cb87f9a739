import MimeDatabase.Log.Event
import MimeDatabase.Magic.Matching
import MimeDatabase.Registry

/-!
# Looking contents up

The magic rules of a database in the order in which they are tried: by falling priority, and of one
priority in the order of registration. Only as many leading bytes of a content are looked at as some
rule may need, up to a ceiling.
-/

namespace MimeDatabase.Magic

/-- The most bytes that are looked at where nothing else is said. -/
def defaultSniffLimit : Nat := 65536

/-- A rule with the type that it stands for. -/
abbrev TypedRule := MediaType × Rule

/-- The rules in the order in which they are tried, and the number of bytes that are looked at. -/
structure Matcher where
  rules : List TypedRule
  maxExtent : Int
  deriving Repr

/-- The type and the priority of the rule that decided. -/
structure Match where
  type : MediaType
  priority : Nat
  deriving DecidableEq, Repr

namespace Matcher

/-- Whether a rule is tried no later than another one of a later registration. -/
def notAfter (a b : TypedRule) : Bool := b.2.priority ≤ a.2.priority

/-- The greatest extent of some rules; zero without any. -/
def greatestExtent : List TypedRule → Int
  | [] => 0
  | r :: rs => rs.foldr (fun r n => max r.2.extent n) r.2.extent

/-- The matcher of some rules, with a ceiling on the bytes that are looked at. -/
def ofRules (rules : List TypedRule) (limit : Int) : Matcher :=
  ⟨rules.mergeSort notAfter, min (greatestExtent rules) limit⟩

/-- As many leading bytes of the data as an extent says; below zero, all but so many last ones. -/
def leading (extent : Int) (data : List UInt8) : List UInt8 :=
  match extent with
  | .ofNat n => data.take n
  | .negSucc n => data.take (data.length - (n + 1))

/-- The first rule that the leading bytes of the data satisfy. Empty data has no type. -/
def lookup (m : Matcher) (order : ByteOrder) (data : List UInt8) : Option Match :=
  if data.isEmpty then none
  else
    (m.rules.find? fun r => r.2.holds order (leading m.maxExtent data)).map fun r =>
      ⟨r.1, r.2.priority⟩

/-- What is logged when data is looked up: the rule that decided. -/
def lookupEvents (m : Matcher) (order : ByteOrder) (data : List UInt8) : List Log.Event :=
  ((m.lookup order data).map fun found =>
    Log.Event.signatureFound found.type.name found.priority).toList

end Matcher

end MimeDatabase.Magic
