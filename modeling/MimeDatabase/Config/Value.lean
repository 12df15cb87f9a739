import MimeDatabase.Number.Double

/-!
# Configuration values

The values that configuration files and log contexts are made of. A table keeps its keys in the
order in which they were first put in. Laying one table over another puts in every value of the
upper one, except that a table over a table is laid over it in turn.
-/

namespace MimeDatabase

/-- A value. -/
inductive Value where
  | null
  | bool (value : Bool)
  | int (value : Int)
  | float (value : Double)
  | text (value : String)
  /-- A text by its code points, not all of which are those of characters. -/
  | brokenText (codes : List Nat)
  /-- A date, a time of day or both, as it is written. -/
  | moment (value : String)
  | list (items : List Value)
  | table (fields : List (String × Value))
  deriving Repr, Inhabited

/-- A table: values by key, in the order of their first insertion. -/
abbrev Table := List (String × Value)

namespace Table

/-- The value of a key. -/
def get? : Table → String → Option Value
  | [], _ => none
  | field :: rest, key => if field.1 = key then some field.2 else get? rest key

/-- Puts a value in. A key that is there already keeps its place. -/
def put (key : String) (value : Value) : Table → Table
  | [] => [(key, value)]
  | field :: rest =>
    if field.1 = key then (key, value) :: rest else field :: put key value rest

/-- The keys, in order. -/
def keys (t : Table) : List String := t.map (·.1)

/-- Removes a key. -/
def erase (t : Table) (key : String) : Table := t.filter (·.1 ≠ key)

theorem get?_put_self (t : Table) (key : String) (value : Value) :
    get? (put key value t) key = some value := by
  induction t with
  | nil => simp [put, get?]
  | cons field rest ih =>
    rw [put]
    split
    · simp [get?]
    · next h => simp [get?, h, ih]

theorem get?_put_ne {key other : String} (h : other ≠ key) (t : Table) (value : Value) :
    get? (put key value t) other = get? t other := by
  induction t with
  | nil => simp [put, get?, h.symm]
  | cons field rest ih =>
    rw [put]
    split
    · next hk => simp [get?, hk, h.symm]
    · simp [get?, ih]

end Table

mutual

/-- A value laid over another one. -/
def Value.over (lower : Value) (upper : Value) : Value :=
  match upper with
  | .table fields =>
    match lower with
    | .table below => .table (Table.over below fields)
    | _ => .table fields
  | other => other

/-- A table laid over another one. -/
def Table.over (below : List (String × Value)) (upper : List (String × Value)) :
    List (String × Value) :=
  match upper with
  | [] => below
  | (key, value) :: rest =>
    let merged := match Table.get? below key with
      | some lower => Value.over lower value
      | none => value
    Table.over (Table.put key merged below) rest

end

end MimeDatabase
